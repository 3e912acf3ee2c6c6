import OpenApi.Proofs.Schema.ReadBack
/-! Maps that were read. The reader drops what it does not know, repetitions and nulls, so that what it
gives is written and read back as it is; and these are all the maps of which that holds. -/
namespace OpenApi
open Json.Decode

namespace Json.Decode

theorem foldKept {δ α ε : Type} {step : δ → α → Except ε δ} (holds : δ → Prop)
    (kept : ∀ d a next, holds d → step d a = .ok next → holds next) {list : List α} {first last : δ}
    (held : holds first) (ok : list.foldlM step first = .ok last) : holds last := by
  induction list generalizing first with
  | nil =>
    cases ok
    exact held
  | cons a rest ih =>
    rw [List.foldlM_cons] at ok
    obtain ⟨next, stepped, more⟩ := Schema.exceptBind ok
    exact ih (kept _ _ _ held stepped) more

theorem recordSource {α δ : Type} {what : String} {needed others : List String}
    {put : δ → String × Json → Decoded δ} {blank : δ} {close : δ → Decoded α} {value : Json} {made : α}
    (ok : record what needed others put blank close value = .ok made) :
    ∃ fields d, Reads put blank fields d ∧ close d = .ok made := by
  have keyed {fields} (read : record what needed others put blank close (.object fields) = .ok made) :
      ∃ fields d, Reads put blank fields d ∧ close d = .ok made :=
    have ⟨d, members, closed⟩ := Schema.exceptBind read
    ⟨fields, d, members, closed⟩
  cases value with
  | object fields => exact keyed ok
  | array items => exact keyed (recordInOrder.mp ok).2.2
  | null | bool | number | string => cases ok

theorem textSetDistinct {value : Json} {names : List String} (ok : textSet value = .ok names) :
    names.Nodup := by
  cases value <;> try cases ok
  obtain ⟨texts, -, added⟩ := Schema.exceptBind ok
  cases added
  exact addAllNodup texts List.nodup_nil

end Json.Decode

namespace Schema

theorem fieldsEach {α : Type} {read : Json → Json.Decoded α} {value : Json} {made : Fields α}
    (ok : fieldsOf read value = .ok made) : ∀ m ∈ made, ∃ given, read given = .ok m.2 := by
  obtain ⟨_, -, each⟩ := fieldsRead ok
  clear ok
  induction each with
  | nil => simp
  | cons one _ ih => exact List.forall_mem_cons.mpr ⟨⟨_, one.2⟩, ih⟩

theorem wholeNonNull {value : Json} {given : Option Json}
    (ok : optional whole value = .ok given) : given ≠ some .null := by
  cases value <;> cases ok <;> simp

theorem Property.putNonNull {d next : Draft} {field : String × Json}
    (held : d.property.fallback ≠ some .null) (ok : d.put field = .ok next) :
    next.property.fallback ≠ some .null := by
  simp only [Draft.put] at ok
  split at ok
  case h_3 =>
    obtain ⟨given, read, is⟩ := exceptBind ok
    cases is
    exact wholeNonNull read
  case h_11 =>
    cases ok
    exact held
  all_goals
    obtain ⟨_, -, is⟩ := exceptBind ok
    cases is
    exact held

theorem Property.readNonNull {value : Json} {p : Property} (ok : read value = .ok p) :
    p.fallback ≠ some .null := by
  cases value <;> try cases ok
  obtain ⟨d, members, rest⟩ := exceptBind ok
  obtain ⟨_, -, more⟩ := exceptBind rest
  obtain ⟨_, -, is⟩ := exceptBind more
  cases is
  exact foldKept (fun d => d.property.fallback ≠ some .null)
    (fun _ _ _ held stepped => putNonNull held stepped) (by simp [Draft.blank]) members

namespace Entry

def Settled (e : Entry) : Prop := e.required.Nodup ∧ e.NullFree

theorem putSettled {d next : Draft} {field : String × Json} (held : d.entry.Settled)
    (ok : d.put field = .ok next) : next.entry.Settled := by
  obtain ⟨distinct, fallback, sample, properties⟩ := held
  simp only [Draft.put] at ok
  split at ok
  case h_6 =>
    obtain ⟨given, read, is⟩ := exceptBind ok
    cases is
    exact ⟨distinct, wholeNonNull read, sample, properties⟩
  case h_8 =>
    obtain ⟨given, read, is⟩ := exceptBind ok
    cases is
    refine ⟨distinct, fallback, sample, fun p member => ?_⟩
    obtain ⟨_, own⟩ := fieldsEach read p member
    exact Property.readNonNull own
  case h_9 =>
    obtain ⟨given, read, is⟩ := exceptBind ok
    cases is
    exact ⟨textSetDistinct read, fallback, sample, properties⟩
  case h_14 =>
    obtain ⟨given, read, is⟩ := exceptBind ok
    cases is
    exact ⟨distinct, fallback, wholeNonNull read, properties⟩
  case h_15 =>
    cases ok
    exact ⟨distinct, fallback, sample, properties⟩
  all_goals
    obtain ⟨_, -, is⟩ := exceptBind ok
    cases is
    exact ⟨distinct, fallback, sample, properties⟩

theorem readSettled {value : Json} {e : Entry} (ok : read value = .ok e) : e.Settled := by
  obtain ⟨_, d, members, closed⟩ := recordSource ok
  obtain ⟨_, -, more⟩ := exceptBind closed
  obtain ⟨_, -, is⟩ := exceptBind more
  cases is
  exact foldKept (fun d => d.entry.Settled) (fun _ _ _ held stepped => putSettled held stepped)
    (by simp [Settled, NullFree, Draft.blank, blank]) members

end Entry

namespace Map

structure Settled (m : Map) : Prop where
  valid : Valid m.entries
  entries : ∀ e ∈ m.entries, e.2.Settled

theorem ofJsonSettled {value : Json} {m : Map} (ok : Map.ofJson value = .ok m) : m.Settled := by
  obtain ⟨read, valid⟩ := ofJsonOk.mp ok
  refine ⟨valid, fun e member => ?_⟩
  obtain ⟨_, own⟩ := fieldsEach read e member
  exact Entry.readSettled own

theorem Settled.back {m : Map} (settled : m.Settled) : Map.ofJson m.toJson = .ok m := by
  have same : m.withoutNull = m := (mapNullFree m).mpr fun e member => (settled.entries e member).2
  have read := mapReadBack settled.valid fun e member => (settled.entries e member).1
  rwa [same] at read

theorem readable {m : Map} : (∃ value, Map.ofJson value = .ok m) ↔ m.Settled :=
  ⟨fun ⟨_, ok⟩ => ofJsonSettled ok, fun settled => ⟨m.toJson, settled.back⟩⟩

theorem ofJsonStable {value : Json} {m : Map} (ok : Map.ofJson value = .ok m) :
    Map.ofJson m.toJson = .ok m :=
  (ofJsonSettled ok).back

def looseValue : Json :=
  .object [
    ("Pets", .object [
      ("kind", .object [("object", .null)]), ("name", .string "Pets"), ("unknown", .number (.int 1)),
      ("required", .array [.string "all", .string "by", .string "all"]), ("default", .null),
      ("properties", .object [
        ("all", .object [
          ("items", .object [("type", .number (.int 8)), ("name", .string "Pet")]),
          ("type", .string "array"), ("required", .bool true), ("default", .null)]),
        ("by", .object [
          ("required", .bool false), ("type", .string "map"),
          ("values", .array [.string "array", .array [.number (.int 8), .string "Name"]]),
          ("constraints", .array [.null, .number (.int 5)])])])]),
    ("Name", .array [.string "Name", .string "primitive", .array [.string "string"], .null,
      .array [.string "Rex"]]),
    ("Pet", .object [
      ("name", .string "Pet"), ("kind", .string "union"), ("example", .array [.null]),
      ("composition", .array [.object [("oneOf", .null)], .array [.string "Pets", .string "Name"]])])]

theorem looseStable : ∃ m, Map.ofJson looseValue = .ok m ∧ m.names = ["Pets", "Name", "Pet"] ∧
    (m.get? "Pets").map (fun e => (e.properties.map fun p => (p.1, p.2.slot), e.required)) =
      some ([("all", .array (.schema "Pet")), ("by", .map (.array (.schema "Name")))], ["all", "by"]) ∧
    (m.get? "Name").map (fun e => (e.dataType, e.values)) =
      some (some .string, some [.string "Rex"]) ∧
    m.toJson ≠ looseValue ∧ Map.ofJson m.toJson = .ok m := by
  have names : (Map.ofJson looseValue).toOption.map Map.names = some ["Pets", "Name", "Pet"] := by
    decide +kernel
  have pets : (Map.ofJson looseValue).toOption.map (fun m =>
      (m.get? "Pets").map fun e => (e.properties.map fun p => (p.1, p.2.slot), e.required)) =
      some (some ([("all", .array (.schema "Pet")), ("by", .map (.array (.schema "Name")))],
        ["all", "by"])) := by
    decide +kernel
  have name : (Map.ofJson looseValue).toOption.map (fun m =>
      (m.get? "Name").map fun e => (e.dataType, e.values)) =
      some (some (some .string, some [.string "Rex"])) := by
    decide +kernel
  have apart : (Map.ofJson looseValue).toOption.map Map.toJson ≠ some looseValue := by
    decide +kernel
  obtain ⟨m, ok, named⟩ := evaluated names
  rw [ok] at pets name apart
  exact ⟨m, ok, named, Option.some.inj pets, Option.some.inj name,
    fun same => apart (congrArg some same), ofJsonStable ok⟩

end Map
end Schema
end OpenApi
