import OpenApi.Proofs.Schema.Nodes
/-! What keyed entries satisfy when no rule of a schema map is broken; nothing else is asked of
them. -/
namespace OpenApi.Schema

structure Valid (entries : Fields Entry) : Prop where
  named : ∀ m ∈ entries, m.1 = m.2.name ∧ m.1 ≠ ""
  distinct : (Fields.keys entries).Nodup
  resolved : ∀ m ∈ entries, findReference? m.2.toJson = none
  closed : ∀ m ∈ entries, ∀ name ∈ m.2.names, name ∈ Fields.keys entries

theorem breachNone {names seen : List String} {key entry} :
    breach? names seen key entry = none ↔
      (key = entry.name ∧ key ≠ "") ∧ entry.name ∉ seen ∧ findReference? entry.toJson = none ∧
        ∀ name ∈ entry.names, name ∈ names := by
  unfold breach?
  by_cases empty : entry.name.isEmpty ∨ key.isEmpty
  · rw [if_pos empty]
    simp only [String.isEmpty_iff] at empty
    simp only [reduceCtorEq, false_iff]
    rintro ⟨⟨rfl, named⟩, -⟩
    exact named (empty.elim id id)
  · rw [if_neg empty]
    simp only [String.isEmpty_iff, not_or] at empty
    by_cases same : key = entry.name
    · rw [if_neg fun differ => differ same]
      by_cases twice : entry.name ∈ seen
      · simp [twice]
      · rw [if_neg twice]
        cases findReference? entry.toJson with
        | some reference => simp
        | none => simp [same, twice, empty.1]
    · simp [same]

theorem firstBreachNone {names seen : List String} {entries : Fields Entry} :
    firstBreach? names seen entries = none ↔
      (∀ m ∈ entries, (m.1 = m.2.name ∧ m.1 ≠ "") ∧ m.1 ∉ seen ∧ findReference? m.2.toJson = none ∧
        ∀ name ∈ m.2.names, name ∈ names) ∧ (Fields.keys entries).Nodup := by
  induction entries generalizing seen with
  | nil => simp [firstBreach?, Fields.keys]
  | cons m rest ih =>
    obtain ⟨key, entry⟩ := m
    rw [List.forall_mem_cons]
    simp only [firstBreach?, Option.or_eq_none_iff, breachNone, ih, Fields.keys, List.map_cons,
      List.nodup_cons, List.mem_cons, not_or]
    constructor
    · rintro ⟨⟨⟨rfl, named⟩, fresh, here⟩, others, distinct⟩
      refine ⟨⟨⟨⟨rfl, named⟩, fresh, here⟩, fun m member => ?_⟩, fun again => ?_, distinct⟩
      · obtain ⟨own, ⟨-, unseen⟩, rest⟩ := others m member
        exact ⟨own, unseen, rest⟩
      · obtain ⟨m, member, same⟩ := List.mem_map.mp again
        exact (others m member).2.1.1 same
    · rintro ⟨⟨⟨⟨rfl, named⟩, fresh, here⟩, others⟩, apart, distinct⟩
      refine ⟨⟨⟨rfl, named⟩, fresh, here⟩, fun m member => ?_, distinct⟩
      obtain ⟨own, unseen, rest⟩ := others m member
      exact ⟨own, ⟨fun same => apart (List.mem_map.mpr ⟨m, member, same⟩), unseen⟩, rest⟩

theorem validateOk {entries : Fields Entry} : validate entries = .ok () ↔ Valid entries := by
  have none : validate entries = .ok () ↔ firstBreach? (Fields.keys entries) [] entries = none := by
    unfold validate
    cases firstBreach? (Fields.keys entries) [] entries <;> simp
  rw [none, firstBreachNone]
  constructor
  · rintro ⟨each, distinct⟩
    exact ⟨fun m member => (each m member).1, distinct, fun m member => (each m member).2.2.1,
      fun m member => (each m member).2.2.2⟩
  · rintro ⟨named, distinct, resolved, closed⟩
    refine ⟨fun m member => ?_, distinct⟩
    exact ⟨named m member, List.not_mem_nil, resolved m member, closed m member⟩

theorem ofEntriesNames (entries : List Entry) :
    (Map.ofEntries entries).names = entries.map Entry.name := by
  simp [Map.names, Map.ofEntries, Fields.keys]

theorem extractEntries {document : Json} {levels : Nat} {map : Map}
    (ok : extract document levels = .ok map) :
    ∃ entries, entriesOf document levels = .ok entries ∧ Valid map.entries ∧
      map = .ofEntries entries := by
  obtain ⟨entries, made, rest⟩ := exceptBind ok
  obtain ⟨⟨⟩, passed, same⟩ := exceptBind rest
  cases same
  exact ⟨entries, made, validateOk.mp passed, rfl⟩

theorem breachMark {names seen : List String} {key entry} (named : key = entry.name ∧ key ≠ "")
    (fresh : key ∉ seen) (closed : ∀ name ∈ entry.names, name ∈ names) :
    breach? names seen key entry = (findReference? entry.toJson).map (.residualReference key) := by
  obtain ⟨rfl, named⟩ := named
  have none : entry.names.find? (· ∉ names) = none :=
    List.find?_eq_none.mpr fun name among => by simpa using closed name among
  simp only [breach?, String.isEmpty_iff, named, or_self, fresh, ↓reduceIte, ne_eq,
    not_true_eq_false, none, Option.map_none]
  cases findReference? entry.toJson <;> rfl

theorem firstBreachMark {names seen : List String} {entries : Fields Entry}
    (named : ∀ m ∈ entries, m.1 = m.2.name ∧ m.1 ≠ "") (distinct : (Fields.keys entries).Nodup)
    (fresh : ∀ key ∈ Fields.keys entries, key ∉ seen)
    (closed : ∀ m ∈ entries, ∀ name ∈ m.2.names, name ∈ names) {breach}
    (broke : firstBreach? names seen entries = some breach) :
    ∃ m ∈ entries, ∃ reference, breach = .residualReference m.1 reference ∧
      findReference? m.2.toJson = some reference := by
  induction entries generalizing seen with
  | nil => cases broke
  | cons m rest ih =>
    obtain ⟨key, entry⟩ := m
    have ⟨own, others⟩ := List.forall_mem_cons.mp named
    have ⟨new, later⟩ := List.forall_mem_cons.mp fresh
    have ⟨here, below⟩ := List.forall_mem_cons.mp closed
    obtain ⟨apart, distinct⟩ := List.nodup_cons.mp distinct
    rw [firstBreach?, breachMark own new here] at broke
    rcases Option.or_eq_some_iff.mp broke with first | ⟨-, deeper⟩
    · obtain ⟨reference, found, rfl⟩ := Option.map_eq_some_iff.mp first
      exact ⟨_, List.mem_cons_self, reference, rfl, found⟩
    · have unseen : ∀ other ∈ Fields.keys rest, other ∉ entry.name :: seen := by
        intro other among seen
        rcases List.mem_cons.mp seen with same | earlier
        · have known : other = key := same.trans own.1.symm
          exact apart (known ▸ among)
        · exact later other among earlier
      obtain ⟨m, member, found⟩ := ih others distinct unseen below deeper
      exact ⟨m, List.mem_cons_of_mem _ member, found⟩

end OpenApi.Schema
