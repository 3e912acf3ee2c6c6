import OpenApi.Proofs.Schema.Coined
import OpenApi.Proofs.Schema.Slots
import OpenApi.Proofs.Schema.Entries
/-! Names during a build. Each entry is opened once, under its own name; apart from the name that an
entry is ordered under, only coined names are opened, and such as were free before. So no name is
met twice or empty, and a build breaks off at a reference alone. -/
namespace OpenApi.Schema.Build
open Resolution (HasReference)

structure Orderly (p : Progress) : Prop where
  named : "" ∉ p.names.taken
  given : p.begun ⊆ p.names.taken
  distinct : p.begun.Nodup

structure Ready (p : Progress) (name : String) : Prop where
  named : name ≠ ""
  given : name ∈ p.names.taken
  unopened : name ∉ p.begun

/-- `Opened own p entries q`: from `p` to `q` the names of `entries` were opened. Those among them that
had been given away before, or are not coined, are in `own`. -/
structure Opened (own : List String) (p : Progress) (entries : List Entry) (q : Progress) :
    Prop where
  orderly : Orderly q
  kept : p.names.taken ⊆ q.names.taken
  begun : q.begun.Perm (entries.map Entry.name ++ p.begun)
  fresh : ∀ name ∈ entries.map Entry.name, name ∈ p.names.taken → name ∈ own
  coined : ∀ name ∈ entries.map Entry.name, name ∈ own ∨ Coined name

structure Allocated (p : Progress) (name : String) (q : Progress) : Prop where
  named : name ≠ ""
  free : name ∉ p.names.taken
  coined : Coined name
  taken : q.names.taken = name :: p.names.taken
  begun : q.begun = p.begun

section
variable {p q r : Progress} {name : String} {own other : List String} {entries more : List Entry}

theorem Opened.still (orderly : Orderly p) : Opened [] p [] p :=
  ⟨orderly, List.Subset.refl _, .refl _, by simp, by simp⟩

theorem Opened.both (first : Opened own p entries q) (second : Opened other q more r) :
    Opened (own ++ other) p (entries ++ more) r where
  orderly := second.orderly
  kept := List.Subset.trans first.kept second.kept
  begun := by
    rw [List.map_append, List.append_assoc]
    exact second.begun.trans ((first.begun.append_left _).trans
      (by simpa using List.perm_append_comm.append_right p.begun))
  fresh := by
    intro name among given
    rw [List.map_append, List.mem_append] at among
    rcases among with early | late
    · exact List.mem_append_left _ (first.fresh name early given)
    · exact List.mem_append_right _ (second.fresh name late (first.kept given))
  coined := by
    intro name among
    rw [List.map_append, List.mem_append] at among
    rcases among with early | late
    · exact (first.coined name early).imp_left (List.mem_append_left _)
    · exact (second.coined name late).imp_left (List.mem_append_right _)

theorem Allocated.orderly (allocated : Allocated p name q) (before : Orderly p) : Orderly q where
  named := by
    rw [allocated.taken]
    exact fun among => (List.mem_cons.mp among).elim allocated.named.symm before.named
  given := by
    rw [allocated.begun, allocated.taken]
    exact List.subset_cons_of_subset _ before.given
  distinct := by
    rw [allocated.begun]
    exact before.distinct

theorem Allocated.ready (allocated : Allocated p name q) (before : Orderly p) : Ready q name where
  named := allocated.named
  given := by rw [allocated.taken]; exact List.mem_cons_self
  unopened := by
    rw [allocated.begun]
    exact fun opened => allocated.free (before.given opened)

theorem Allocated.opened (allocated : Allocated p name q) (opened : Opened [name] q entries r) :
    Opened [] p entries r where
  orderly := opened.orderly
  kept := by
    have kept := opened.kept
    rw [allocated.taken] at kept
    exact (List.cons_subset.mp kept).2
  begun := allocated.begun ▸ opened.begun
  fresh := by
    intro other among given
    have given' : other ∈ q.names.taken := by
      rw [allocated.taken]
      exact List.mem_cons_of_mem _ given
    have same := List.mem_singleton.mp (opened.fresh other among given')
    exact absurd (same ▸ given) allocated.free
  coined := by
    intro other among
    rcases opened.coined other among with own | coined
    · exact .inr (List.mem_singleton.mp own ▸ allocated.coined)
    · exact .inr coined

theorem allocates {allowed : Breach → Prop} {base : String} (stem : Stem base) :
    Meets allowed (allocate base) p fun name q => Allocated p name q :=
  ⟨Names.freshNamed _ _, (Names.freshCases _ _).1, ⟨_, stem, freshDerived _ _⟩, rfl, rfl⟩

end

def Opens {α : Type} (document : Json) (m : Build (α × List Entry)) (result : α → Prop) : Prop :=
  ∀ p, Orderly p → Meets (Blames (HasReference document)) m p fun made q => result made.1 ∧ Opened [] p made.2 q

def Begins (document : Json) (m : Build (List Entry)) (name : String) : Prop :=
  ∀ p, Orderly p → Ready p name → Meets (Blames (HasReference document)) m p fun entries q =>
    Opened [name] p entries q

namespace Opens
variable {document : Json} {α β γ : Type}

theorem pure {a : α} {result : α → Prop} (known : result a) :
    Opens document (pure (a, [])) result :=
  fun _ orderly => ⟨known, .still orderly⟩

theorem map {m : Build (α × List Entry)} {f : α → β} {one : α → Prop} {result : β → Prop}
    (first : Opens document m one) (join : ∀ a, one a → result (f a)) :
    Opens document (do let (a, entries) ← m; return (f a, entries)) result :=
  fun p orderly => Meets.bind (first p orderly) fun made _ ended =>
    ⟨join made.1 ended.1, ended.2⟩

theorem both {m : Build (α × List Entry)} {k : Build (β × List Entry)} {f : α → β → γ}
    {one : α → Prop} {other : β → Prop} {result : γ → Prop} (first : Opens document m one)
    (second : Opens document k other) (join : ∀ a b, one a → other b → result (f a b)) :
    Opens document (do let (a, entries) ← m; let (b, more) ← k; return (f a b, entries ++ more))
      result := by
  intro p orderly
  refine Meets.bind (first p orderly) fun made q ended => ?_
  obtain ⟨known, opened⟩ := ended
  refine Meets.bind (second q opened.orderly) fun rest r last => ?_
  obtain ⟨others, more⟩ := last
  exact ⟨join _ _ known others, opened.both more⟩

end Opens

section
variable {components : Fields Json} {document : Json} {deeper : Option Maker}

theorem namedSlotOpens {node : Json} {owner reference} (inside : node.Within document)
    (is : Reference.of? node = some reference) :
    Opens document (do return (← namedSlot components owner reference, [])) fun _ => True := by
  intro p orderly
  refine Meets.bind (namedSlotMeets fun _ => blames inside is) fun slot q ended => ?_
  obtain ⟨rfl, -⟩ := ended
  exact ⟨trivial, .still orderly⟩

theorem hoistOpens {make : Maker} {node : Json}
    (begins : ∀ name, Begins document (make node name) name) {base : String} (stem : Stem base) :
    Opens document (hoist make node base) fun _ => True := by
  intro p orderly
  have taken {name q} (allocated : Allocated p name q) :
      Meets (Blames (HasReference document)) (do return (Slot.schema name, ← make node name)) q fun made r =>
        True ∧ Opened [] p made.2 r := by
    have begun := begins name q (allocated.orderly orderly) (allocated.ready orderly)
    exact Meets.bind begun fun entries r opened => ⟨trivial, allocated.opened opened⟩
  unfold hoist
  refine .read ?_
  cases (findReference? node).isSome with
  | false => exact Meets.bind (allocates stem) fun name q allocated => taken allocated
  | true =>
    cases p.recursive.lookup node with
    | some name => exact ⟨trivial, .still orderly⟩
    | none =>
      refine Meets.bind (allocates stem) fun name q allocated => ?_
      exact taken ⟨allocated.named, allocated.free, allocated.coined, allocated.taken,
        allocated.begun⟩

theorem slotAtOpens {key fields base} (each : ∀ value, (Json.object fields).get? key = some value →
      Opens document (slot components deeper value base) fun _ => True) :
    Opens document (slotAt components deeper key fields base) fun _ => True := by
  rw [slotAtGet]
  cases given : (Json.object fields).get? key with
  | none => exact .pure trivial
  | some value => exact (each value given).map fun _ _ => trivial

def DeeperBegins (document : Json) (deeper : Option Maker) : Prop :=
  ∀ make, deeper = some make → ∀ node, node.Within document → ∀ name,
    Begins document (make node name) name

theorem flatSlotOpens {fields base} (flat : Flat (.object fields))
    (part : ∀ {key base}, Stem base →
      Opens document (slotAt components deeper key fields base) fun _ => True) :
    Opens document (slot components deeper (.object fields) base) fun _ => True := by
  cases isArray : Node.isArray (.object fields) with
  | true =>
    rw [slotArray flat isArray]
    refine (part (.items base)).map (f := fun items => Slot.array (items.getD .any)) ?_
    exact fun _ _ => trivial
  | false =>
    cases isObject : Node.isObject (.object fields) with
    | false =>
      rw [slotPlain flat isArray isObject]
      exact .pure trivial
    | true =>
      cases given : Node.additionalProperties? (.object fields) with
      | none =>
        rw [slotObject flat isArray isObject given]
        exact .pure trivial
      | some values =>
        rw [slotMap flat isArray isObject given]
        refine (part (.values base)).map (f := fun values => Slot.map (values.getD .any)) ?_
        exact fun _ _ => trivial

theorem slotOpens (below : DeeperBegins document deeper) {node : Json}
    (inside : node.Within document) {base : String} (stem : Stem base) :
    Opens document (slot components deeper node base) fun _ => True := by
  induction node using Json.ofParts generalizing base with
  | null | bool | number | string | array => exact .pure trivial
  | object fields ih =>
    have part {key base} (stem : Stem base) :
        Opens document (slotAt components deeper key fields base) fun _ => True :=
      slotAtOpens fun value given =>
        ih _ (Fields.getMember given) ((Json.withinGet given).trans inside) stem
    cases is : Reference.of? (.object fields) with
    | some reference =>
      unfold slot
      simp only [is]
      exact namedSlotOpens inside is
    | none =>
      by_cases needs : Node.needsEntry (.object fields) = true
      · unfold slot
        simp only [is, needs, ↓reduceIte]
        cases makes : deeper with
        | none => exact .pure trivial
        | some make => exact hoistOpens (below make makes _ inside) stem
      · exact flatSlotOpens ⟨is, Bool.eq_false_iff.mpr needs⟩ part

theorem propertiesOpens (below : DeeperBegins document deeper) {owner required}
    {declared : Fields Json} (inside : Inside document declared) :
    Opens document (properties components deeper owner required declared) fun _ => True := by
  induction declared with
  | nil => exact .pure trivial
  | cons field rest ih =>
    obtain ⟨name, node⟩ := field
    have ⟨first, later⟩ := List.forall_mem_cons.mp inside
    unfold properties
    exact Opens.both (f := fun slot others =>
        (name, Node.property node slot (required.contains name)) :: others)
      (slotOpens below first (.property owner name)) (ih later) fun _ _ _ _ => trivial

theorem objectOpens (below : DeeperBegins document deeper) {node : Json} {name required}
    {declared : Fields Json} (inside : node.Within document) (parts : Inside document declared) :
    Opens document (objectEntry components deeper node name declared required) (·.name = name) := by
  unfold objectEntry
  split
  · rename_i values given
    have within := (Json.withinGet (Node.additionalGiven given)).trans inside
    refine (slotOpens below within (.values name)).map (f := fun values =>
      { Entry.blank name .object with required := required, dataType := some (Slot.map values) }) ?_
    exact fun _ _ => rfl
  · refine (propertiesOpens below parts).map (f := fun properties =>
      { Entry.blank name .object with required := required, properties := properties }) ?_
    exact fun _ _ => rfl

theorem arrayOpens (below : DeeperBegins document deeper) {node : Json} {name}
    (inside : node.Within document) :
    Opens document (arrayEntry components deeper node name) (·.name = name) := by
  unfold arrayEntry
  split
  · rename_i items given
    have within := (Json.withinGet given).trans inside
    refine (slotOpens below within (.items name)).map (f := fun slot =>
      { Entry.blank name .array with items := some slot }) ?_
    exact fun _ _ => rfl
  · exact .pure rfl

theorem entryOpens (declared : Inside document components) (below : DeeperBegins document deeper)
    {node : Json} {name options} (inside : node.Within document)
    (offers : ∀ {kind members}, Node.composition? node = some (kind, members) →
      Opens document (options kind) fun _ => True) :
    Opens document (entryOf components deeper options node name) (·.name = name) := by
  unfold entryOf
  split
  · rename_i is
    intro p orderly
    refine Meets.bind (namedSlotMeets fun _ => blames inside is) fun slot q ended => ?_
    obtain ⟨rfl, -⟩ := ended
    exact ⟨rfl, .still orderly⟩
  · rename_i members plain composed
    intro p orderly
    have kept := mergeKeeps (fun _ => True) (fun _ _ _ _ => trivial) trivial (fun _ => declared) name
      (compositionWithin inside composed)
    refine Meets.bind (.lift fun breach broke => ?_) fun merged q ended => ?_
    · rw [broke] at kept
      exact kept
    · obtain ⟨rfl, merges⟩ := ended
      have gathered := insideMerge declared (compositionWithin inside composed) merges
      refine @Opens.map _ _ _ _ (fun entry => { Node.annotate node entry with
        description := (merged.absorb node).description }) _ (fun made => made.name = name)
        (objectOpens below inside (insideAbsorb gathered inside)) (fun entry named => ?_) q orderly
      exact named
  · rename_i kind members choice plain composed
    refine (offers composed).map (f := fun names => Node.annotate node
      { Entry.blank name .union with composition := some ⟨kind, names⟩ }) ?_
    exact fun _ _ => rfl
  · split
    · refine (objectOpens below inside (insideFields inside)).map (f := Node.annotate node) ?_
      exact fun _ named => named
    · split
      · refine (arrayOpens below inside).map (f := Node.annotate node) ?_
        exact fun _ named => named
      · exact .pure rfl

theorem entryBegins {m : Build (Entry × List Entry)} {name : String}
    (entry : Opens document m (·.name = name)) :
    Begins document (do start name; let (entry, entries) ← m; return entry :: entries) name := by
  intro p orderly ready
  refine Meets.bind (startMeets (fun empty => ?_) fun twice => ?_) fun _ q started => ?_
  · exact absurd (by simpa using empty) ready.named
  · exact absurd twice ready.unopened
  · obtain ⟨-, -, rfl⟩ := started
    have opening : Orderly { p with begun := name :: p.begun } :=
      ⟨orderly.named, List.cons_subset.mpr ⟨ready.given, orderly.given⟩,
        List.nodup_cons.mpr ⟨ready.unopened, orderly.distinct⟩⟩
    refine Meets.bind (entry _ opening) fun made r ended => ?_
    obtain ⟨named, opened⟩ := ended
    have among {other} (listed : other ∈ (made.1 :: made.2).map Entry.name) :
        other ∈ [name] ∨ other ∈ made.2.map Entry.name := by
      rw [List.map_cons, named] at listed
      exact (List.mem_cons.mp listed).imp_left List.mem_singleton.mpr
    refine ⟨opened.orderly, opened.kept, ?_, fun other listed given => ?_, fun other listed => ?_⟩
    · rw [List.map_cons, named]
      exact opened.begun.trans List.perm_middle
    · rcases among listed with own | inner
      · exact own
      · exact absurd (opened.fresh other inner given) List.not_mem_nil
    · rcases among listed with own | inner
      · exact .inl own
      · exact .inr ((opened.coined other inner).resolve_left List.not_mem_nil)

theorem optionsOpens {owner : String} {index members}
    (each : ∀ member ∈ members, ∀ name,
      Begins document (optionMaker components deeper member name) name) :
    Opens document (optionsFrom components deeper owner index members) fun _ => True := by
  induction members generalizing index with
  | nil => exact .pure trivial
  | cons member rest ih =>
    have ⟨one, others⟩ := List.forall_mem_cons.mp each
    rw [optionsMember]
    intro p orderly
    refine Meets.bind (allocates (.choice owner index)) fun name q allocated => ?_
    have begun := one name q (allocated.orderly orderly) (allocated.ready orderly)
    refine Meets.bind begun fun entries r opened => ?_
    refine Meets.bind (ih others r opened.orderly) fun made s ended => ?_
    exact ⟨trivial, (allocated.opened opened).both ended.2⟩

theorem entriesBegin (declared : Inside document components)
    (below : DeeperBegins document deeper) {node : Json} (inside : node.Within document)
    (name : String) : Begins document (entriesOf components deeper node name) name := by
  induction node using Json.ofMembers generalizing name with
  | other node noObject =>
    cases node with
    | object => cases noObject
    | null | bool | number | string | array =>
      exact entryBegins (entryOpens declared below inside fun composed => by cases composed)
  | object fields ih =>
    unfold entriesOf
    refine entryBegins (entryOpens declared below inside fun composed => ?_)
    rw [optionsAtItems, Node.compositionItems composed]
    refine optionsOpens fun member among name => ?_
    have within := compositionWithin inside composed member among
    -- As in building them, the members of the last level come from the smaller node itself.
    cases makes : deeper with
    | none =>
      subst makes
      exact ih _ _ (Node.compositionItems composed) member among within name
    | some make => exact below make makes member within name

theorem normalizeBegins (declared : Inside document components) (levels : Nat) {node : Json}
    (inside : node.Within document) (name : String) :
    Begins document (normalize components levels node name) name := by
  induction levels generalizing node name with
  | zero => exact entriesBegin declared (fun _ none => by cases none) inside name
  | succ levels ih =>
    refine entriesBegin declared (fun make makes => ?_) inside name
    cases makes
    exact fun node within name => ih within name

theorem declaredOpens (declared : Inside document components) {levels} {fields : Fields Json}
    (inside : Inside document fields) (distinct : (Fields.keys fields).Nodup) {p : Progress}
    (orderly : Orderly p) (ready : ∀ name ∈ Fields.keys fields, Ready p name) :
    Meets (Blames (HasReference document)) (buildDeclared components levels fields) p fun entries q =>
      Opened (Fields.keys fields) p entries q := by
  induction fields generalizing p with
  | nil => exact .still orderly
  | cons field rest ih =>
    obtain ⟨name, node⟩ := field
    have ⟨first, later⟩ := List.forall_mem_cons.mp inside
    obtain ⟨apart, others⟩ := List.nodup_cons.mp distinct
    have ⟨own, waiting⟩ := List.forall_mem_cons.mp ready
    unfold buildDeclared
    refine Meets.bind (normalizeBegins declared levels first name p orderly own) ?_
    intro entries q opened
    have still : ∀ other ∈ Fields.keys rest, Ready q other := by
      intro other among
      have before := waiting other among
      refine ⟨before.named, opened.kept before.given, fun begun => ?_⟩
      rcases List.mem_append.mp (opened.begun.mem_iff.mp begun) with inner | earlier
      · have same := List.mem_singleton.mp (opened.fresh other inner before.given)
        exact apart (same ▸ among)
      · exact before.unopened earlier
    refine Meets.bind (ih later others opened.orderly still) fun more r ended => ?_
    exact opened.both ended

theorem bodiesOpen (declared : Inside document components) {levels} {bodies : List Body}
    (inside : ∀ body ∈ bodies, body.schema.Within document)
    (stems : ∀ body ∈ bodies, Stem body.baseName) {p : Progress} (orderly : Orderly p) :
    Meets (Blames (HasReference document)) (buildBodies components levels bodies) p fun entries q =>
      Opened [] p entries q := by
  induction bodies generalizing p with
  | nil => exact .still orderly
  | cons body rest ih =>
    have ⟨first, later⟩ := List.forall_mem_cons.mp inside
    have ⟨stem, others⟩ := List.forall_mem_cons.mp stems
    unfold buildBodies
    refine Meets.bind (allocates stem) fun name q allocated => ?_
    have begun := normalizeBegins declared levels first name q (allocated.orderly orderly)
      (allocated.ready orderly)
    refine Meets.bind begun fun entries r opened => ?_
    refine Meets.bind (ih later others opened.orderly) fun more s ended => ?_
    exact (allocated.opened opened).both ended

theorem rootsOpen (declared : Inside document components) {levels} {bodies : List Body}
    (inside : ∀ body ∈ bodies, body.schema.Within document)
    (stems : ∀ body ∈ bodies, Stem body.baseName)
    (distinct : (Fields.keys components).Nodup) {p : Progress} (orderly : Orderly p)
    (ready : ∀ name ∈ Fields.keys components, Ready p name) :
    Meets (Blames (HasReference document)) (do
        let declared ← buildDeclared components levels components
        return declared ++ (← buildBodies components levels bodies)) p fun entries q =>
      Opened (Fields.keys components ++ []) p entries q := by
  refine .bind (declaredOpens declared declared distinct orderly ready) fun _ _ first => ?_
  refine .bind (bodiesOpen declared inside stems first.orderly) fun _ _ later => ?_
  exact first.both later

end
end OpenApi.Schema.Build
