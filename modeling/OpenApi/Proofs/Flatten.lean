import OpenApi.Flatten
import OpenApi.Proofs.Resolution.Remainder
import OpenApi.Proofs.Schema.Contract
/-! Documents that resolve cleanly. To a resolution a `$ref` member is a reference if it holds a text,
and data otherwise; the rules of a schema map take the bare name for a reference. So a clean document
flattens up to the data that bears the name. -/
namespace OpenApi

namespace Resolution

def MarkedData (node : Json) : Prop :=
  Reference.of? node = none ∧ ∃ fields, node = .object fields ∧ Reference.key ∈ Fields.keys fields

theorem markedBelow {root : Json} {base : String} {chain location : List String} {part : Json}
    (clear : Clear root base) (visit : Visits root base chain location part)
    (has : (outcome root base chain location part).HasKey Reference.key) :
    ∃ location node, Walked root base location node ∧ MarkedData node := by
  refine clearInduction clear (motive := fun chain location part =>
    (outcome root base chain location part).HasKey Reference.key →
      ∃ location node, Walked root base location node ∧ MarkedData node)
    ?reference ?object ?array ?scalar visit has
  case reference =>
    intro chain location node reference pointer target visit is enters ih has
    apply ih
    rw [outcomeReference visit is enters] at has
    dsimp only at has
    split at has
    · rename_i still
      obtain ⟨left, leftIs⟩ := Option.isSome_iff_exists.mp still
      exact Json.hasKeyOfReference leftIs
    · exact has
  case object =>
    intro chain location fields visit plain ih has
    rw [outcomeObject plain, Json.hasKeyObject] at has
    rcases has with among | ⟨member, old, deeper⟩
    · simp only [Fields.keys, List.map_map, Function.comp_def] at among
      exact ⟨_, _, walkedOfVisit visit, plain, fields, rfl, among⟩
    · obtain ⟨m, among, rfl⟩ := List.mem_map.mp old
      exact ih m among deeper
  case array =>
    intro chain location items visit ih has
    rw [outcomeArray, Json.hasKeyArray] at has
    obtain ⟨_, old, deeper⟩ := has
    obtain ⟨⟨item, index⟩, among, rfl⟩ := List.mem_map.mp old
    exact ih index item (List.mem_zipIdx_iff_getElem?.mp among) deeper
  case scalar =>
    intro chain location value scalar has
    rw [outcomeScalar scalar] at has
    cases value with
    | object => cases scalar.1
    | array => cases scalar.2
    | null | bool | number | string => simp at has

end Resolution

open Resolution
open Schema (Entry components? extract entriesOf)

section
variable {root : Json} {base : String} {tolerant : Bool} {levels : Nat}

theorem flattenClean (clean : (resolve root base).isClean = true) :
    flatten root base tolerant levels =
      ((extract (resolve root base).document levels).mapError Failure.integrity).map fun schemas =>
        ⟨(resolve root base).document, (resolve root base).resolved,
          (resolve root base).problems, schemas⟩ := by
  dsimp only [flatten, Resolution.cleanDocument]
  rw [if_pos clean]
  cases tolerant <;> cases extract (resolve root base).document levels <;> rfl

/-- How a document flattens that resolves cleanly: where no data is marked; where none turns into a
reference; in general; and how else it fails. -/
structure CleanFlattening (root : Json) (base : String) (tolerant : Bool) (levels : Nat) : Prop where
  unmarked : (∀ location node, Walked root base location node → ¬ MarkedData node) →
    ∃ flattened, flatten root base tolerant levels = .ok flattened
  built : (∀ location node, Walked root base location node → ¬ Masked root base node) →
    ∃ entries, entriesOf (resolve root base).document levels = .ok entries
  exactly : (∃ flattened, flatten root base tolerant levels = .ok flattened) ↔
    ∃ entries, entriesOf (resolve root base).document levels = .ok entries ∧
      ∀ entry ∈ entries, Reference.key ∉ Fields.keys entry.properties ∧
        ∀ value ∈ entry.carried, ¬ value.HasKey Reference.key
  otherwise : ∀ failure, flatten root base tolerant levels = .error failure →
    ∃ owner reference, failure = .integrity (.residualReference owner reference)

theorem flattenSucceeds (clean : (resolve root base).isClean = true) :
    (∃ flattened, flatten root base tolerant levels = .ok flattened) ↔
      ∃ map, extract (resolve root base).document levels = .ok map := by
  rw [flattenClean clean]
  cases extract (resolve root base).document levels <;> simp [Except.map, Except.mapError]

end

theorem cleanFlattens {fields : Fields Json} {base : String}
    (keyed : (Json.object fields).wellKeyed = true)
    (clean : (resolve (.object fields) base).isClean = true)
    (named : "" ∉ Fields.keys ((components? (resolve (.object fields) base).document).getD []))
    (tolerant : Bool) (levels : Nat) :
    CleanFlattening (.object fields) base tolerant levels := by
  have clear := cleanClear.mp clean
  have distinct := Schema.declaredDistinct (documentKeyed keyed base)
  have extracted := Schema.extractNamed levels distinct named
  constructor
  case unmarked =>
    intro none
    refine (flattenSucceeds clean).mpr (extracted.succeeds fun mark => ?_)
    obtain ⟨location, node, walked, marked⟩ := markedBelow clear (.root .here) mark
    exact none location node walked marked
  case built =>
    intro none
    refine (Schema.entriesNamed levels distinct named).succeeds fun left => ?_
    obtain ⟨location, node, walked, masked⟩ := maskedBelow clear (.root .here) left
    exact none location node walked masked
  case exactly =>
    simp only [flattenSucceeds clean, Schema.extractSucceeds distinct named, Schema.entryMarked,
      not_or, not_exists, not_and]
  case otherwise =>
    intro failure failed
    rw [flattenClean clean] at failed
    cases made : extract (resolve (.object fields) base).document levels with
    | ok map => simp [made, Except.map, Except.mapError] at failed
    | error breach =>
      rw [made] at failed extracted
      obtain ⟨⟨owner, reference, rfl⟩, -⟩ := extracted
      cases failed
      exact ⟨owner, reference, rfl⟩

def markedFields : Fields Json :=
  [("components", .object [("schemas", .object [("A", .object [("properties", .object [
    ("$ref", .object [("type", .string "string")])])])])])]

theorem markedFlattening :
    (resolve (.object markedFields) "openapi.yaml").isClean = true ∧
      CleanFlattening (.object markedFields) "openapi.yaml" false 1 :=
  ⟨by decide +kernel,
    cleanFlattens (by decide) (by decide +kernel) (by decide +kernel) false 1⟩

theorem cleanUnflattened :
    ¬ ∀ (fields : Fields Json) (base : String), (Json.object fields).wellKeyed = true →
      (resolve (.object fields) base).isClean = true →
      "" ∉ Fields.keys ((components? (resolve (.object fields) base).document).getD []) →
      ∀ tolerant levels, ∃ flattened, flatten (.object fields) base tolerant levels =
        .ok flattened := by
  intro all
  obtain ⟨flattened, made⟩ := all markedFields "openapi.yaml" (by decide) (by decide +kernel)
    (by decide +kernel) false 1
  have failed : (flatten (.object markedFields) "openapi.yaml" false 1).toOption.isSome = false := by
    decide +kernel
  rw [made] at failed
  cases failed

end OpenApi
