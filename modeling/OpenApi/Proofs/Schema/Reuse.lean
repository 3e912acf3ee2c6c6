import Mathlib.Data.List.Nodup
import OpenApi.Proofs.Schema.Chronicle
/-! Structures that are named by an entry made for an equal one. The entry was made at the depth where
such a structure was met first, and that depth decides whether its own structures are typed by
name. -/
namespace OpenApi.Schema

def TypedByName : Fields Json → Fields Property → Prop :=
  List.Forall₂ fun declared given =>
    Node.needsEntry declared.2 → ∃ name, given.2.slot = .schema name

theorem settledTyped {room : Prop} {fields : Fields Json} {properties : Fields Property}
    (settled : PropertiesSettled room fields properties) :
    TypedByName fields properties ↔
      ∀ m ∈ fields, Node.needsEntry m.2 → (Reference.of? m.2).isSome ∨ room := by
  induction settled with
  | nil => simp [TypedByName]
  | cons first _ ih =>
    have ⟨_, own⟩ := first
    unfold TypedByName at ih ⊢
    rw [List.forall₂_cons, ih, List.forall_mem_cons]
    exact and_congr_left fun _ => forall_congr' own

theorem fitsAmong {max : Nat} {made : List Call} {entries : List Entry}
    (fits : List.Forall₂ (Fits max) made entries) {c} (among : c ∈ made) :
    ∃ entry ∈ entries, Fits max c entry := by
  induction fits with
  | nil => cases among
  | cons fit _ ih =>
    obtain rfl | later := List.mem_cons.mp among
    · exact ⟨_, List.mem_cons_self, fit⟩
    · obtain ⟨entry, listed, fit⟩ := ih later
      exact ⟨entry, List.mem_cons_of_mem _ listed, fit⟩

section
variable {document : Json} {max : Nat} {map : Map} (ok : extract document max = .ok map)
include ok

theorem callMade {c : Call} (asked : c ∈ calls document max) (makes : c.makes) :
    ∃ entry, map.get? c.name = some entry ∧ Fits max c entry := by
  obtain ⟨entries, made, valid, rfl⟩ := extractEntries ok
  obtain ⟨entry, listed, fit⟩ := fitsAmong ((chronicle document max).fits entries made)
    (List.mem_filter.mpr ⟨asked, makes⟩)
  have member : (c.name, entry) ∈ (Map.ofEntries entries).entries :=
    List.mem_map.mpr ⟨entry, listed, by rw [fit.named]⟩
  exact ⟨entry, Fields.getOfMember valid.distinct member, fit⟩

theorem callSole {c other : Call} (asked : c ∈ calls document max) (makes : c.makes)
    (listed : other ∈ calls document max) (again : other.makes) (same : other.name = c.name) :
    other = c := by
  obtain ⟨entries, made, valid, rfl⟩ := extractEntries ok
  have distinct := valid.distinct
  have names := callsNamed ok
  rw [Map.names] at names
  rw [names] at distinct
  exact List.inj_on_of_nodup_map distinct (List.mem_filter.mpr ⟨listed, again⟩)
    (List.mem_filter.mpr ⟨asked, makes⟩) same

end

/-- A slot names the entry that `made` made for the structure, or for an equal one before. -/
structure Answered (document : Json) (max : Nat) (map : Map) (c made : Call) (entry : Entry) :
    Prop where
  listed : made ∈ calls document max
  taken : made.cause = .hoisted
  node : made.node = c.node
  sole : ∀ other ∈ calls document max, other.makes → other.name = c.name → other = made
  fresh : c.cause = .hoisted → made = c
  found : map.get? c.name = some entry
  typed : ∀ fields, c.node.getFields? "properties" = some fields →
    (TypedByName fields entry.properties ↔
      ∀ m ∈ fields, Node.needsEntry m.2 → (Reference.of? m.2).isSome ∨ made.depth < max)

theorem slotAnswered {document : Json} {max : Nat} {map : Map}
    (ok : extract document max = .ok map) {c : Call} (asked : c ∈ calls document max)
    (slot : c.cause = .hoisted ∨ c.cause = .reused) (alone : Node.composition? c.node = none) :
    ∃ made entry, Answered document max map c made entry := by
  have first : ∃ made ∈ calls document max, made.cause = .hoisted ∧ made.node = c.node ∧
      made.name = c.name ∧ Reference.of? c.node = none ∧ (c.cause = .hoisted → made = c) := by
    cases (chronicle document max).linked c asked with
    | root | option => simp at slot
    | hoisted _ nested => exact ⟨_, asked, rfl, rfl, rfl, nested.plain, fun _ => rfl⟩
    | reused _ nested before taken =>
      exact ⟨_, before, taken, rfl, rfl, nested.plain, nofun⟩
  obtain ⟨made, listed, taken, node, name, plain, fresh⟩ := first
  have makes : made.makes := by simp [Call.makes, taken]
  obtain ⟨entry, found, fit⟩ := callMade ok listed makes
  refine ⟨made, entry, ?_⟩
  constructor
  case listed => exact listed
  case taken => exact taken
  case node => exact node
  case fresh => exact fresh
  case found => exact name ▸ found
  case sole =>
    exact fun other among again same =>
      callSole ok listed makes among again (same.trans name.symm)
  case typed =>
    intro fields given
    have isObject : Node.isObject made.node := by simp [Node.isObject, node, given]
    have settled := fit.properties (node ▸ ⟨plain, alone⟩) isObject
    rw [node, given] at settled
    exact settledTyped settled

def partNode : Json :=
  .object [("properties", .object [
    ("in", .object [("properties", .object [("x", .object [("type", .string "string")])])]),
    ("me", .object [("$ref", .string "#/components/schemas/A")])])]

def twinDocument : Json :=
  .object [("components", .object [("schemas", .object [
    ("A", .object [("properties", .object [("first", partNode), ("second", partNode)])])])])]

def deepDocument : Json :=
  .object [("components", .object [("schemas", .object [
    ("A", .object [("properties", .object [
      ("deep", .object [("properties", .object [("s", partNode)])]),
      ("s", partNode)])])])])]

theorem twinAnswered :
    ∃ map made entry, extract twinDocument 2 = .ok map ∧
      map.names = ["A", "AFirst", "AFirstIn"] ∧
      Answered twinDocument 2 map ⟨.reused, 1, partNode, "AFirst"⟩ made entry := by
  have names : (extract twinDocument 2).toOption.map Map.names =
      some ["A", "AFirst", "AFirstIn"] := by decide +kernel
  obtain ⟨map, ok, named⟩ := evaluated names
  obtain ⟨made, entry, answered⟩ := slotAnswered ok
    (c := ⟨.reused, 1, partNode, "AFirst"⟩) (by decide +kernel) (.inr rfl) rfl
  exact ⟨map, made, entry, ok, named, answered⟩

theorem deepNotTyped :
    ¬ ∀ document max map, extract document max = .ok map → ∀ c ∈ calls document max,
      c.cause = .hoisted ∨ c.cause = .reused → c.depth < max →
      Node.composition? c.node = none → ∀ fields, c.node.getFields? "properties" = some fields →
      ∀ entry, map.get? c.name = some entry → TypedByName fields entry.properties := by
  intro typed
  have slots : (extract deepDocument 2).toOption.bind (fun map => (map.get? "ADeepS").map fun entry =>
      entry.properties.map fun p => p.2.slot) = some [.object, .schema "A"] := by decide +kernel
  have asked : (⟨.reused, 1, partNode, "ADeepS"⟩ : Call) ∈ calls deepDocument 2 := by
    decide +kernel
  cases ok : extract deepDocument 2 with
  | error breach => simp [ok, Except.toOption] at slots
  | ok map =>
    simp only [ok, Except.toOption, Option.bind_some, Option.map_eq_some_iff] at slots
    obtain ⟨entry, found, slots⟩ := slots
    have each := typed deepDocument 2 map ok _ asked (.inr rfl) (by decide) rfl _ rfl entry found
    obtain ⟨given, rest, first, -, is⟩ := List.forall₂_cons_left_iff.mp each
    obtain ⟨name, named⟩ := first rfl
    simp [is, named] at slots

end OpenApi.Schema
