import OpenApi.Proofs.Schema.Outermost
/-! Keyed entries that are accepted. What the rules ask for is said of the entries alone: of their keys,
of the JSON they are written as, and of the names that stand in them at any depth. -/
namespace OpenApi.Schema

namespace Slot

inductive Mentions (name : String) : Slot → Prop where
  | here : Mentions name (.schema name)
  | items {slot} (inside : Mentions name slot) : Mentions name (.array slot)
  | values {slot} (inside : Mentions name slot) : Mentions name (.map slot)

theorem namesMentioned {name : String} {slot : Slot} : name ∈ slot.names ↔ slot.Mentions name := by
  constructor
  · intro among
    induction slot with
    | schema given =>
      cases List.mem_singleton.mp among
      exact .here
    | array items ih => exact .items (ih among)
    | map values ih => exact .values (ih among)
    | string | integer | number | boolean | object | any => cases among
  · intro mentions
    induction mentions with
    | here => exact List.mem_singleton.mpr rfl
    | items _ ih | values _ ih => exact ih

end Slot

namespace Entry

inductive Mentions (name : String) (e : Entry) : Prop where
  | property {p} (member : p ∈ e.properties) (inside : p.2.slot.Mentions name)
  | items {slot} (given : e.items = some slot) (inside : slot.Mentions name)
  | dataType {slot} (given : e.dataType = some slot) (inside : slot.Mentions name)
  | option {composition} (given : e.composition = some composition)
      (member : name ∈ composition.memberNames)

theorem namesMentioned {name : String} {e : Entry} : name ∈ e.names ↔ e.Mentions name := by
  simp only [names, List.mem_append, List.mem_flatMap, Slot.namesMentioned]
  constructor
  · rintro (((⟨p, member, inside⟩ | items) | dataType) | composition)
    · exact .property member inside
    · cases given : e.items with
      | none => simp [given] at items
      | some slot => exact .items given (Slot.namesMentioned.mp (by simpa [given] using items))
    · cases given : e.dataType with
      | none => simp [given] at dataType
      | some slot => exact .dataType given (Slot.namesMentioned.mp (by simpa [given] using dataType))
    · cases given : e.composition with
      | none => simp [given] at composition
      | some c => exact .option given (by simpa [given] using composition)
  · rintro (⟨member, inside⟩ | ⟨given, inside⟩ | ⟨given, inside⟩ | ⟨given, member⟩)
    · exact .inl (.inl (.inl ⟨_, member, inside⟩))
    · exact .inl (.inl (.inr (by simpa [given] using Slot.namesMentioned.mpr inside)))
    · exact .inl (.inr (by simpa [given] using Slot.namesMentioned.mpr inside))
    · exact .inr (by simpa [given] using member)

end Entry

structure WellFormed (entries : Fields Entry) : Prop where
  named : ∀ m ∈ entries, m.1 ≠ "" ∧ m.1 = m.2.name
  unmarked : ∀ m ∈ entries, ∀ fields, (Json.object fields).Within m.2.toJson →
    Reference.key ∉ Fields.keys fields
  closed : ∀ m ∈ entries, ∀ name, m.2.Mentions name → name ∈ Fields.keys entries

theorem unmarkedFound {value : Json} : findReference? value = none ↔
    ∀ fields, (Json.object fields).Within value → Reference.key ∉ Fields.keys fields := by
  rw [← Option.not_isSome_iff_eq_none, findReferenceSome]
  exact ⟨fun unmarked fields inside among => unmarked ⟨fields, inside, among⟩,
    fun unmarked ⟨fields, inside, among⟩ => unmarked fields inside among⟩

section
variable {entries : Fields Entry}

theorem validWellFormed (distinct : (Fields.keys entries).Nodup) :
    Valid entries ↔ WellFormed entries := by
  constructor
  · rintro ⟨named, -, resolved, closed⟩
    refine ⟨fun m member => (named m member).symm, fun m member => ?_, fun m member name has => ?_⟩
    · exact unmarkedFound.mp (resolved m member)
    · exact closed m member name (Entry.namesMentioned.mpr has)
  · rintro ⟨named, unmarked, closed⟩
    refine ⟨fun m member => (named m member).symm, distinct, fun m member => ?_,
      fun m member name among => ?_⟩
    · exact unmarkedFound.mpr (unmarked m member)
    · exact closed m member name (Entry.namesMentioned.mp among)

theorem breachTwice {names seen : List String} {key name} {entry : Entry}
    (broke : breach? names seen key entry = some (.duplicateName name)) : key ∈ seen := by
  unfold breach? at broke
  split at broke
  · cases broke
  · split at broke
    · cases broke
    · rename_i same
      split at broke
      · rename_i twice
        rwa [not_not.mp same]
      · split at broke
        · cases broke
        · simp at broke

theorem firstBreachOnce {names seen : List String} (distinct : (Fields.keys entries).Nodup)
    (fresh : ∀ key ∈ Fields.keys entries, key ∉ seen) (name : String) :
    firstBreach? names seen entries ≠ some (.duplicateName name) := by
  -- The entries seen before have passed, so their names are their keys, and no key comes twice.
  induction entries generalizing seen with
  | nil => simp [firstBreach?]
  | cons m rest ih =>
    obtain ⟨key, entry⟩ := m
    obtain ⟨apart, others⟩ := List.nodup_cons.mp distinct
    obtain ⟨new, later⟩ := List.forall_mem_cons.mp fresh
    intro broke
    rcases Option.or_eq_some_iff.mp broke with here | ⟨passed, deeper⟩
    · exact new (breachTwice here)
    · obtain ⟨⟨same, -⟩, -⟩ := breachNone.mp passed
      refine ih others (fun other among held => ?_) deeper
      rcases List.mem_cons.mp held with is | earlier
      · exact apart (show key ∈ Fields.keys rest from same.trans is.symm ▸ among)
      · exact later other among earlier

theorem validateOnce (distinct : (Fields.keys entries).Nodup) (name : String) :
    validate entries ≠ .error (.duplicateName name) := by
  unfold validate
  cases broke : firstBreach? (Fields.keys entries) [] entries with
  | none => simp
  | some breach =>
    intro is
    cases is
    exact firstBreachOnce distinct (fun _ _ => List.not_mem_nil) name broke

end

theorem readDistinct {value : Json} {entries : Fields Entry} (keyed : value.wellKeyed = true)
    (read : Json.Decode.fieldsOf Entry.read value = .ok entries) : (Fields.keys entries).Nodup := by
  obtain ⟨fields, rfl, each⟩ := fieldsRead read
  rw [readKeys each]
  exact (Json.wellKeyedObject.mp keyed).1

theorem acceptedWellFormed {value : Json} {entries : Fields Entry} (keyed : value.wellKeyed = true)
    (read : Json.Decode.fieldsOf Entry.read value = .ok entries) :
    (validate entries = .ok () ↔ WellFormed entries) ∧
      (Map.ofJson value = .ok ⟨entries⟩ ↔ WellFormed entries) ∧
      ∀ name, validate entries ≠ .error (.duplicateName name) := by
  have distinct := readDistinct keyed read
  have valid := validWellFormed distinct
  refine ⟨validateOk.trans valid, ?_, validateOnce distinct⟩
  rw [ofJsonOk, and_iff_right read, valid]

def deepValue (target : String) : Json :=
  .object [("Pets", .object [("name", .string "Pets"), ("kind", .string "object"),
    ("properties", .object [("all", .object [("type", .string "map"), ("required", .bool true),
      ("values", .object [("type", .string "array"),
        ("items", .array [.string "schema", .string target])])])])])]

theorem deepNameAsked :
    (∃ entries, Json.Decode.fieldsOf Entry.read (deepValue "Pets") = .ok entries ∧
      WellFormed entries) ∧
    ∃ entries, Json.Decode.fieldsOf Entry.read (deepValue "Gone") = .ok entries ∧
      ¬ WellFormed entries := by
  have checks (target : String) (keyed : (deepValue target).wellKeyed = true)
      (known : (Json.Decode.fieldsOf Entry.read (deepValue target)).toOption.map
        (fun entries => (validate entries).toOption.isSome) = some (decide (target = "Pets"))) :
      ∃ entries, Json.Decode.fieldsOf Entry.read (deepValue target) = .ok entries ∧
        (WellFormed entries ↔ target = "Pets") := by
    obtain ⟨entries, read, is⟩ := evaluated known
    refine ⟨entries, read, (acceptedWellFormed keyed read).1.symm.trans ?_⟩
    cases checked : validate entries <;> simpa [checked, Except.toOption] using is
  obtain ⟨entries, read, good⟩ := checks "Pets" (by decide) (by decide +kernel)
  obtain ⟨others, again, bad⟩ := checks "Gone" (by decide) (by decide +kernel)
  exact ⟨⟨entries, read, good.mpr rfl⟩, others, again, fun formed => absurd (bad.mp formed) (by decide)⟩

end OpenApi.Schema
