import OpenApi.Proofs.Schema.Kept
import OpenApi.Proofs.Schema.Outermost
/-! The calls of every function of a build, and of an extraction as a whole. As in the source of an
entry, a level of structures rests on the one below it; only the members of a union go on below the
last one. -/
namespace OpenApi.Schema
namespace Journal
open Logged (of call)

inductive Below (max depth : Nat) : Option Maker → Prop where
  | bound (full : max ≤ depth) : Below max depth none
  | level {make} (room : depth < max) (enters : ∀ c : Call, c.makes → c.depth = depth + 1 →
      Enters max c (make c.node c.name)) : Below max depth (some make)

section
variable {components : Fields Json} {max : Nat} {owner : Call} {deeper : Option Maker}

theorem namedSlotKeeps {name reference : String} :
    Keeps max owner (do return (← of (Build.namedSlot components name reference), []))
      fun slot => ∃ target, slot = .schema target := by
  intro past p known noted
  refine .after (Build.namedSlotMeets fun _ => trivial) fun slot q ended => ?_
  obtain ⟨rfl, target, _, _, rfl⟩ := ended
  exact .pure ⟨⟨target, rfl⟩, .still noted⟩

theorem takenKept {make : Maker} {node : Json} {name : String} {past memo} {p : Progress}
    (nested : Nested max owner node)
    (enters : Enters max (owner.below .hoisted node name) (make node name)) (known : owner ∈ past)
    (noted : Noted past memo) (noting : p.recursive = memo ∨ p.recursive = (node, name) :: memo) :
    Kept max past
      (do return (Slot.schema name, ← call (owner.below .hoisted node name) (make node name))) p
      fun calls made q => (∃ name, made.1 = .schema name) ∧ Closes max past calls made.2 q := by
  have link : Linked max (past ++ [owner.below .hoisted node name])
      (owner.below .hoisted node name) := .hoisted (List.mem_append_left _ known) nested
  have before := noted.mono (List.subset_append_left past [owner.below .hoisted node name])
  have noted' : Noted (past ++ [owner.below .hoisted node name]) p.recursive := by
    obtain same | more := noting
    · exact same ▸ before
    · rw [more]
      refine List.forall_mem_cons.mpr ⟨⟨_, List.mem_append_right _ List.mem_cons_self, ?_⟩, before⟩
      exact ⟨rfl, rfl, rfl⟩
  exact (enters past p link noted').map fun calls entries q closes => ⟨⟨name, rfl⟩, closes⟩

theorem hoistKeeps {make : Maker} {node : Json} (nested : Nested max owner node)
    (enters : ∀ name, Enters max (owner.below .hoisted node name) (make node name))
    (base : String) :
    Keeps max owner (hoist make owner.depth node base) fun slot => ∃ name, slot = .schema name := by
  -- The structure is noted before it is entered, so it may be reused inside itself.
  intro past p known noted
  unfold hoist
  refine .after Build.Meets.got fun a q is => ?_
  obtain ⟨rfl, rfl⟩ := is
  dsimp only
  cases (findReference? node).isSome with
  | false =>
    refine .after (Build.allocateMeets base) fun name q allocated => ?_
    obtain ⟨-, rfl⟩ := allocated
    exact takenKept nested (enters name) known noted (.inl rfl)
  | true =>
    cases given : q.recursive.lookup node with
    | some name =>
      obtain ⟨before, after, split, -⟩ := List.lookup_eq_some_iff.mp given
      obtain ⟨made, listed, cause, rfl, rfl⟩ := noted (node, name) (by simp [split])
      have link : Linked max (past ++ [owner.below .reused made.node made.name])
          (owner.below .reused made.node made.name) :=
        .reused (List.mem_append_left _ known) nested (List.mem_append_left _ listed) cause
      refine .call link (.inr nofun) (.pure ⟨⟨_, rfl⟩, ?_, .nil⟩)
      exact noted.mono (List.subset_append_left _ _)
    | none =>
      refine .after (Build.allocateMeets base) fun name q allocated => ?_
      obtain ⟨-, rfl⟩ := allocated
      exact .after (Build.Meets.modify rfl) fun _ q noting =>
        takenKept nested (enters name) known noted (.inr noting)

theorem slotAtKeeps {key base} {fields : Fields Json} (each : ∀ m ∈ fields,
      Keeps max owner (slot components deeper owner.depth m.2 base) fun _ => True) :
    Keeps max owner (slotAt components deeper owner.depth key fields base) fun _ => True := by
  induction fields with
  | nil => exact .pure trivial
  | cons field rest ih =>
    have ⟨first, later⟩ := List.forall_mem_cons.mp each
    unfold slotAt
    split
    · exact first.map (f := some) fun _ _ => trivial
    · exact ih later

theorem slotKeeps (makes : owner.makes) (below : Below max owner.depth deeper) (node : Json)
    (base : String) : Keeps max owner (slot components deeper owner.depth node base)
      (Settled (owner.depth < max) node) := by
  induction node using Json.ofParts generalizing base with
  | null | bool | number | string | array => exact .pure nofun
  | object fields ih =>
    have part (key base) :
        Keeps max owner (slotAt components deeper owner.depth key fields base) fun _ => True :=
      slotAtKeeps fun m member => (ih m member base).imp fun _ _ => trivial
    unfold slot
    dsimp only
    cases is : Reference.of? (.object fields) with
    | some reference =>
      refine namedSlotKeeps.imp fun slot named _ => ?_
      exact iff_of_true named (.inl (by rw [is]; rfl))
    | none =>
      cases needs : Node.needsEntry (.object fields) with
      | true =>
        cases below with
        | bound full =>
          refine .pure fun _ => iff_of_false ?_ (by simp [is]; omega)
          rintro ⟨name, same⟩
          split at same <;> cases same
        | level room enters =>
          have taken := hoistKeeps ⟨makes, room, is, needs⟩ (fun name => enters _ rfl rfl) base
          exact taken.imp fun slot named _ => iff_of_true named (.inr room)
      | false =>
        have loose (slot) : Settled (owner.depth < max) (.object fields) slot :=
          fun needed => absurd needed (by simp [needs])
        cases Node.isArray (.object fields) with
        | true => exact (part _ _).map (f := fun items => .array (items.getD .any)) fun _ _ => loose _
        | false =>
          cases Node.isObject (.object fields) with
          | false => exact .pure (loose _)
          | true =>
            cases (Node.additionalProperties? (.object fields)).isSome with
            | false => exact .pure (loose _)
            | true =>
              exact (part _ _).map (f := fun values => .map (values.getD .any)) fun _ _ => loose _

theorem propertiesKeep (makes : owner.makes) (below : Below max owner.depth deeper)
    (name : String) (required : List String) (fields : Fields Json) :
    Keeps max owner (properties components deeper owner.depth name required fields)
      (PropertiesSettled (owner.depth < max) fields) := by
  induction fields with
  | nil => exact .pure .nil
  | cons field rest ih =>
    obtain ⟨key, node⟩ := field
    unfold properties
    exact (slotKeeps makes below node (propertyName name key)).both
      (f := fun slot others => (key, Node.property node slot (required.contains key)) :: others)
      ih fun slot others settled more => .cons ⟨rfl, settled⟩ more

theorem objectKeeps (makes : owner.makes) (below : Below max owner.depth deeper) (node : Json)
    (name : String) (fields : Fields Json) (required : List String) :
    Keeps max owner (objectEntry components deeper owner.depth node name fields required)
      fun entry => entry.name = name ∧
        PropertiesSettled (owner.depth < max) fields entry.properties := by
  unfold objectEntry
  split
  · refine (slotKeeps makes below _ _).map (f := fun values => { Entry.blank name .object with
      required := required, dataType := some (Slot.map values) }) fun _ _ => ?_
    exact ⟨rfl, .nil⟩
  · refine (propertiesKeep makes below name required _).map (f := fun properties =>
      { Entry.blank name .object with required := required, properties := properties }) ?_
    exact fun _ settled => ⟨rfl, settled⟩

theorem arrayKeeps (makes : owner.makes) (below : Below max owner.depth deeper) (node : Json)
    (name : String) : Keeps max owner (arrayEntry components deeper owner.depth node name)
      (·.name = name) := by
  unfold arrayEntry
  split
  · refine (slotKeeps makes below _ _).map (f := fun slot =>
      { Entry.blank name .array with items := some slot }) ?_
    exact fun _ _ => rfl
  · exact .pure rfl

theorem entryKeeps (makes : owner.makes) (below : Below max owner.depth deeper)
    {options : Composition.Kind → Logged (List String × List Entry)}
    (offers : ∀ {kind members}, Node.composition? owner.node = some (kind, members) →
      Reference.of? owner.node = none → kind ≠ .allOf → Keeps max owner (options kind) fun _ => True) :
    Keeps max owner (entryOf components deeper owner.depth options owner.node owner.name)
      (Fits max owner) := by
  unfold entryOf
  split
  · rename_i is
    intro past p known noted
    refine .after (Build.namedSlotMeets fun _ => trivial) fun slot q ended => ?_
    obtain ⟨rfl, -⟩ := ended
    exact .pure ⟨⟨rfl, fun single => absurd single.plain (by simp [is])⟩, .still noted⟩
  · rename_i composed
    intro past p known noted
    refine .after (.lift fun _ _ => trivial) fun merged q ended => ?_
    obtain ⟨rfl, -⟩ := ended
    refine (objectKeeps makes below owner.node owner.name _ _).map (f := fun entry =>
      { Node.annotate owner.node entry with description := (merged.absorb owner.node).description })
      (fun _ made => ?_) past q known noted
    exact ⟨made.1, fun single => absurd single.alone (by simp [composed])⟩
  · rename_i kind members choice plain composed
    refine (offers composed plain choice).map (f := fun names => Node.annotate owner.node
      { Entry.blank owner.name .union with composition := some ⟨kind, names⟩ }) ?_
    exact fun _ _ => ⟨rfl, fun single => absurd single.alone (by simp [composed])⟩
  · split
    · refine (objectKeeps makes below _ _ _ _).map (f := Node.annotate owner.node) ?_
      exact fun _ object => ⟨object.1, fun _ _ => object.2⟩
    · rename_i noObject
      split
      · refine (arrayKeeps makes below _ _).map (f := Node.annotate owner.node) ?_
        exact fun _ named => ⟨named, fun _ isObject => absurd isObject noObject⟩
      · exact .pure ⟨rfl, fun _ isObject => absurd isObject noObject⟩

theorem callsFirst {α β : Type} (m : Logged α) (f : α → Logged β) (p : Progress) :
    m.calls p ⊆ (m >>= f).calls p :=
  List.subset_append_left _ _

theorem entryEnters {c : Call} (makes : c.makes) {m : Logged (Entry × List Entry)}
    (entry : Keeps max c m (Fits max c)) (branched : ∀ p, Branched (m.calls p) c) :
    Enters max c
      (do of (Build.start c.name); let (entry, entries) ← m; return entry :: entries) := by
  intro past p link noted
  refine .call link ?_ ?_
  -- A union asks for its first member at once, unless its own name cannot be opened.
  · have opens : Build.Meets Breach.Naming (Build.start c.name) p fun _ _ => True :=
      (Build.startMeets (fun _ => trivial) fun _ => trivial).imp fun _ _ _ => trivial
    unfold Build.Meets at opens
    cases ran : (Build.start c.name).run p with
    | error breach =>
      rw [ran] at opens
      exact .inl ⟨breach, opens, (bindBroken (m := of (Build.start c.name)) ran).2⟩
    | ok started =>
      rw [(bindEnded (m := of (Build.start c.name)) ran).1]
      exact .inr ((branched _).mono (callsFirst m _ _))
  · refine .after (Build.startMeets (fun _ => trivial) fun _ => trivial) fun _ q started => ?_
    obtain ⟨-, -, rfl⟩ := started
    have made := entry (past ++ [c]) { p with begun := c.name :: p.begun }
      (List.mem_append_right _ List.mem_cons_self) noted
    refine made.map fun calls made r ended => ?_
    obtain ⟨fits, closes⟩ := ended
    refine ⟨by simpa using closes.noted, ?_⟩
    rw [List.filter_cons_of_pos makes]
    exact .cons fits closes.fits

theorem optionsKeep (makes : owner.makes) {all members : List Json} (union : Union owner.node all)
    (among : members ⊆ all) {index : Nat} (each : ∀ member ∈ members, ∀ name,
      Enters max (owner.below .option member name)
        (optionMaker components (owner.depth + 1) deeper member name)) :
    Keeps max owner (optionsFrom components deeper owner.name owner.depth index members)
      fun _ => True := by
  induction members generalizing index with
  | nil => exact .pure trivial
  | cons member rest ih =>
    have ⟨one, others⟩ := List.forall_mem_cons.mp each
    have ⟨first, later⟩ := List.cons_subset.mp among
    rw [optionsMember]
    intro past p known noted
    refine .after (Build.allocateMeets _) fun name q allocated => ?_
    obtain ⟨-, rfl⟩ := allocated
    have link : Linked max (past ++ [owner.below .option member name])
        (owner.below .option member name) :=
      .option (List.mem_append_left _ known) makes union first
    have entered := one name past { p with names := p.names.take name } link
      (noted.mono (List.subset_append_left _ _))
    refine entered.bind fun calls entries r closes => ?_
    refine (ih later others _ r (List.mem_append_left _ known) closes.noted).map
      fun more made s ended => ⟨trivial, closes.both ended.2⟩

theorem optionsFirst {member : Json} {rest : List Json} {index : Nat} (p : Progress) :
    ∃ name, owner.below .option member name ∈
      (optionsFrom components deeper owner.name owner.depth index (member :: rest)).calls p := by
  rw [optionsMember]
  exact ⟨_, List.mem_cons_self⟩

theorem entryUnion {options : Composition.Kind → Logged (List String × List Entry)}
    {node : Json} {depth : Nat} {name : String} {kind members}
    (plain : Reference.of? node = none) (composed : Node.composition? node = some (kind, members))
    (choice : kind ≠ .allOf) (p : Progress) :
    (options kind).calls p ⊆ (entryOf components deeper depth options node name).calls p := by
  unfold entryOf
  rw [plain, composed]
  cases kind with
  | allOf => exact absurd rfl choice
  | oneOf | anyOf => exact callsFirst _ _ p

theorem entryBranched {options : Composition.Kind → Logged (List String × List Entry)}
    (offers : ∀ {kind members}, Node.composition? owner.node = some (kind, members) → ∀ p,
      ∃ member name, owner.below .option member name ∈ (options kind).calls p) (p : Progress) :
    Branched ((entryOf components deeper owner.depth options owner.node owner.name).calls p)
      owner := by
  intro _ members union
  obtain ⟨plain, kind, composed, choice⟩ := union
  obtain ⟨member, name, asked⟩ := offers composed p
  exact ⟨_, entryUnion plain composed choice p asked, rfl, rfl⟩

theorem entriesEnter {c : Call} (makes : c.makes) (below : Below max c.depth deeper) :
    Enters max c (entriesOf components deeper c.depth c.node c.name) := by
  obtain ⟨cause, depth, node, name⟩ := c
  induction node using Json.ofMembers generalizing cause depth name with
  | other node noObject =>
    cases node with
    | object => cases noObject
    | null | bool | number | string | array =>
      exact entryEnters makes (entryKeeps makes below fun composed => by cases composed)
        (entryBranched fun composed => by cases composed)
  | object fields ih =>
    unfold entriesOf
    refine entryEnters makes (entryKeeps makes below fun composed plain choice => ?_)
      (entryBranched fun composed p => ?_)
    · rw [optionsAtItems, Node.compositionItems composed]
      refine optionsKeep makes ⟨plain, _, composed, choice⟩ (List.Subset.refl _) ?_
      intro member among name
      cases below with
      | bound full =>
        exact ih _ _ (Node.compositionItems composed) member among .option (depth + 1) name rfl
          (.bound (Nat.le_succ_of_le full))
      | level room enters => exact enters _ rfl rfl
    · rw [optionsAtItems, Node.compositionItems composed]
      obtain ⟨member, rest, rfl⟩ := Node.compositionSome composed
      exact ⟨member, optionsFirst p⟩

theorem normalizeEnters {c : Call} (makes : c.makes) {levels : Nat} (left : levels = max - c.depth) :
    Enters max c (normalize components levels c.depth c.node c.name) := by
  induction levels generalizing c with
  | zero => exact entriesEnter makes (.bound (by omega))
  | succ levels ih =>
    refine entriesEnter makes (.level (by omega) fun inner makes deep => ?_)
    exact deep ▸ ih makes (by omega)

def Roots (max : Nat) (m : Logged (List Entry)) : Prop :=
  ∀ past p, Noted past p.recursive → Kept max past m p fun calls entries q =>
    Closes max past calls entries q

theorem Roots.pure : Roots max (pure []) := fun _ _ noted => .pure (.still noted)

theorem Roots.both {m k : Logged (List Entry)} (first : Roots max m) (second : Roots max k) :
    Roots max (do return (← m) ++ (← k)) := by
  intro past p noted
  refine (first past p noted).bind fun calls entries q closes => ?_
  exact (second _ q closes.noted).map fun more others r last => closes.both last

theorem rootKept (node : Json) (name : String) :
    Roots max (call ⟨.root, 0, node, name⟩ (normalize components max 0 node name)) := by
  intro past p noted
  have entered : Enters max ⟨.root, 0, node, name⟩ (normalize components max 0 node name) :=
    normalizeEnters rfl rfl
  exact entered past p .root (noted.mono (List.subset_append_left _ _))

theorem declaredRoots (fields : Fields Json) : Roots max (declared components max fields) := by
  induction fields with
  | nil => exact .pure
  | cons field rest ih => exact (rootKept field.2 field.1).both ih

theorem bodiesRoots (found : List Body) : Roots max (bodies components max found) := by
  induction found with
  | nil => exact .pure
  | cons body rest ih =>
    intro past p noted
    refine .after (Build.allocateMeets _) fun name q allocated => ?_
    obtain ⟨-, rfl⟩ := allocated
    exact ((rootKept body.schema name).both ih) past { p with names := p.names.take name } noted

theorem rootsKept (max : Nat) (components : Fields Json) (found : List Body) (names : Names) :
    Kept max [] (roots components max found) ⟨names, [], []⟩ fun calls entries q =>
      Closes max [] calls entries q :=
  (declaredRoots components).both (bodiesRoots found) [] _ nofun

end
end Journal

structure Chronicle (document : Json) (max : Nat) : Prop where
  linked : ∀ c ∈ calls document max, Linked max (calls document max) c
  branched : ∀ c ∈ calls document max, Branched (calls document max) c
  fits : ∀ entries, entriesOf document max = .ok entries →
    List.Forall₂ (Fits max) ((calls document max).filter Call.makes) entries

theorem entriesLogged {document : Json} {names : Names}
    (reserved : reserveAll .empty (Fields.keys ((components? document).getD [])) = .ok names)
    (max : Nat) :
    entriesOf document max = do
      let (entries, _) ← (Journal.roots ((components? document).getD []) max
        (Body.collect ((components? document).getD []) document)).build.run ⟨names, [], []⟩
      return entries := by
  unfold entriesOf
  dsimp only
  rw [reserved, Journal.rootsBuild]
  rfl

theorem chronicle (document : Json) (max : Nat) : Chronicle document max := by
  cases reserved : reserveAll .empty (Fields.keys ((components? document).getD [])) with
  | error breach =>
    have none : calls document max = [] := by simp [calls, reserved]
    have broke : entriesOf document max = .error breach := by
      unfold entriesOf
      dsimp only
      rw [reserved]
      rfl
    exact ⟨by simp [none], by simp [none], by simp [broke]⟩
  | ok names =>
    obtain ⟨distinct, others⟩ := reservedApart reserved
    have outcome := entriesNamed max distinct fun empty => (others "" empty).1 rfl
    have kept := Journal.rootsKept max ((components? document).getD [])
      (Body.collect ((components? document).getD []) document) names
    have listed : calls document max = (Journal.roots ((components? document).getD []) max
        (Body.collect ((components? document).getD []) document)).calls ⟨names, [], []⟩ := by
      simp only [calls, reserved]
    rw [entriesLogged reserved] at outcome
    constructor
    case linked => simpa [listed] using kept.linked
    case branched =>
      rw [listed]
      refine kept.branched.resolve_left ?_
      rintro ⟨breach, naming, broke⟩
      rw [broke] at outcome
      obtain ⟨⟨owner, reference, rfl⟩, -⟩ := outcome
      exact naming
    case fits =>
      intro entries made
      rw [entriesLogged reserved] at made
      obtain ⟨⟨_, q⟩, ran, same⟩ := exceptBind made
      cases same
      exact listed ▸ (kept.ended _ q ran).fits

theorem fitsNamed {max : Nat} {made : List Call} {entries : List Entry}
    (fits : List.Forall₂ (Fits max) made entries) :
    entries.map Entry.name = made.map Call.name := by
  induction fits with
  | nil => rfl
  | cons fit _ ih => exact congrArg₂ List.cons fit.named ih

theorem callsNamed {document : Json} {max : Nat} {map : Map} (ok : extract document max = .ok map) :
    map.names = ((calls document max).filter Call.makes).map Call.name := by
  obtain ⟨entries, made, -, rfl⟩ := extractEntries ok
  rw [ofEntriesNames]
  exact fitsNamed ((chronicle document max).fits entries made)

end OpenApi.Schema
